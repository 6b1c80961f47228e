import FormEngine.Builder.History
import FormEngine.Builder.Ident
import FormEngine.Builder.Store
import FormEngine.Builder.Tree
import FormEngine.Data.Finite
import FormEngine.Data.Keyed
import FormEngine.Data.Value
import FormEngine.Filling.Calendar
import FormEngine.Filling.Condition
import FormEngine.Filling.Session
import FormEngine.Filling.Submission
import FormEngine.Filling.Validation
import FormEngine.Filling.Visibility
import FormEngine.Json.Bytes
import FormEngine.Json.Encoding
import FormEngine.Json.Complaint
import FormEngine.Json.Reader
import FormEngine.Json.Writer
import FormEngine.Number.Binary64
import FormEngine.Number.Numeral
import FormEngine.Number.Shortest
import FormEngine.Page.CanvasPage
import FormEngine.Page.Control
import FormEngine.Page.FormPage
import FormEngine.Page.Layout
import FormEngine.Page.Markup
import FormEngine.Page.TableView
import FormEngine.Pattern.Matcher
import FormEngine.Pattern.Reader
import FormEngine.Pattern.Syntax
import FormEngine.Proofs.Builder.Atomic
import FormEngine.Proofs.Builder.Hole
import FormEngine.Proofs.Builder.Lists
import FormEngine.Proofs.Builder.Outcomes
import FormEngine.Proofs.Builder.Sound
import FormEngine.Proofs.Filling.Hidden
import FormEngine.Proofs.Filling.ValueIndex
import FormEngine.Proofs.Forest
import FormEngine.Proofs.Maps
import FormEngine.Proofs.Service.Refusals
import FormEngine.Proofs.Tables.Consistent
import FormEngine.Proofs.Tables.Fingerprint
import FormEngine.Proofs.Tables.Freshness
import FormEngine.Proofs.Tables.Notes
import FormEngine.Schema.Decode
import FormEngine.Schema.Encode
import FormEngine.Schema.Fault
import FormEngine.Schema.Form
import FormEngine.Schema.Scalars
import FormEngine.Service.Exchange
import FormEngine.Service.Handler
import FormEngine.Service.History
import FormEngine.Service.Orders
import FormEngine.Service.Route
import FormEngine.Service.Sample
import FormEngine.Tables.Fetch
import FormEngine.Tables.Fingerprint
import FormEngine.Tables.History
import FormEngine.Tables.Source
import FormEngine.Tables.Sync
import FormEngine.Text.CaseMap
import FormEngine.Text.CharClass
import FormEngine.Text.CharTables
import FormEngine.Text.Codes
import FormEngine.Proofs.Filling.Visible
import FormEngine.Filling.History
import FormEngine.Proofs.Filling.SameValues
import FormEngine.Proofs.Filling.UpToDate
import FormEngine.Proofs.Service.Answers
import FormEngine.Proofs.Service.Submitting
import FormEngine.Proofs.Builder.Outline
import FormEngine.Proofs.Builder.Structure
import FormEngine.Proofs.Builder.Arrivals
import FormEngine.Proofs.Builder.BlankIds
import FormEngine.Proofs.Filling.Payload
import FormEngine.Proofs.Tables.Steps
import FormEngine.Proofs.Tables.Waiting
import FormEngine.Proofs.Tables.Bookkeeping
import FormEngine.Filling.Sharing
import FormEngine.Proofs.Tables.Refresh
import FormEngine.Proofs.Tables.Shared
import FormEngine.Proofs.Tables.Synced
import FormEngine.Data.Contents
import FormEngine.Json.Reread
import FormEngine.Schema.Reread
import FormEngine.Proofs.Number.Digits
import FormEngine.Proofs.Json.Texts
import FormEngine.Proofs.Json.Numbers
import FormEngine.Proofs.Json.Documents
import FormEngine.Proofs.Schema.Slots
import FormEngine.Proofs.Schema.Arrived
import FormEngine.Proofs.Schema.ReadBack
import FormEngine.Proofs.Schema.Unchanged
import FormEngine.Proofs.Builder.Export
import FormEngine.Proofs.Page.ShownValue
import FormEngine.Schema.Transfer
import FormEngine.Schema.Numbers
import FormEngine.Proofs.Service.Sending
import FormEngine.Proofs.Service.SchemaReturned
import FormEngine.Proofs.Builder.Bounds
import FormEngine.Proofs.Service.Operations
import FormEngine.Proofs.Service.Statuses
import FormEngine.Proofs.Service.InternalErrors
import FormEngine.Page.Tokens
import FormEngine.Page.Looks
import FormEngine.Page.Elements
import FormEngine.Page.Fragments
import FormEngine.Proofs.Page.Trees
import FormEngine.Proofs.Page.Canvas
import FormEngine.Proofs.Page.Reading
import FormEngine.Proofs.Page.Outlines
import FormEngine.Proofs.Page.NoInjection
import FormEngine.Proofs.Service.Routes
import FormEngine.Proofs.Builder.MovedBack
import FormEngine.Proofs.Builder.Rearranged
import FormEngine.Proofs.Filling.SiblingOrder
import FormEngine.Schema.Traits
import FormEngine.Proofs.Schema.Traits
import FormEngine.Proofs.Schema.PlainStyle
import FormEngine.Proofs.Builder.Patched
import FormEngine.Proofs.Builder.TypesKept
import FormEngine.Proofs.Filling.Complaints
import FormEngine.Proofs.Page.Occurrences
import FormEngine.Proofs.Page.Messages
import FormEngine.Proofs.Page.Picking
import FormEngine.Proofs.Page.Asking
import FormEngine.Proofs.Page.RowsShown
import FormEngine.Proofs.Page.Fragments
import FormEngine.Proofs.Builder.TreeCheck
import FormEngine.Proofs.Builder.Duplicates
import FormEngine.Proofs.Builder.Selection
import FormEngine.Proofs.Number.Exact
import FormEngine.Proofs.Filling.Comparing
import FormEngine.Proofs.Filling.Leaves
import FormEngine.Proofs.Filling.Failing
import FormEngine.Proofs.Filling.Coerced
import FormEngine.Proofs.Filling.SentKeys
import FormEngine.Proofs.Number.Rounding
import FormEngine.Proofs.Number.Notations
import FormEngine.Proofs.Filling.Coercion
import FormEngine.Proofs.Text.Pieces
import FormEngine.Proofs.Filling.TagLimit
import FormEngine.Proofs.Pattern.Languages
import FormEngine.Proofs.Filling.Addresses
import FormEngine.Proofs.Filling.Days
import FormEngine.Proofs.Tables.Fetching
import FormEngine.Proofs.Tables.CallCounts
import FormEngine.Proofs.Builder.Draws
import FormEngine.Proofs.Builder.FreshIds
import FormEngine.Proofs.Builder.Lookups
