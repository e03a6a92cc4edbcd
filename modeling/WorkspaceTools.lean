import WorkspaceTools.Check.Field
import WorkspaceTools.Check.Issue
import WorkspaceTools.Check.Rejection
import WorkspaceTools.Check.Time
import WorkspaceTools.Command.Doctor
import WorkspaceTools.Command.Outcome
import WorkspaceTools.Command.Run
import WorkspaceTools.Command.Setup
import WorkspaceTools.Command.Usage
import WorkspaceTools.Command.Version
import WorkspaceTools.Consent.Callback
import WorkspaceTools.Consent.Flow
import WorkspaceTools.Exchange.Program
import WorkspaceTools.Exchange.Session
import WorkspaceTools.Fault
import WorkspaceTools.Grid.Column
import WorkspaceTools.Grid.Range
import WorkspaceTools.Json.Access
import WorkspaceTools.Json.Body
import WorkspaceTools.Json.Order
import WorkspaceTools.Json.Printer
import WorkspaceTools.Json.Reader
import WorkspaceTools.Json.Value
import WorkspaceTools.Json.Wide
import WorkspaceTools.Mail.Attachment
import WorkspaceTools.Mail.Body
import WorkspaceTools.Mail.Draft
import WorkspaceTools.Mail.EncodedWord
import WorkspaceTools.Mail.Folding
import WorkspaceTools.Mail.Header
import WorkspaceTools.Mail.MediaType
import WorkspaceTools.Main
import WorkspaceTools.Number.Binary64
import WorkspaceTools.Number.Decimal
import WorkspaceTools.Number.Power
import WorkspaceTools.Number.Shortest
import WorkspaceTools.Pivot.Compile
import WorkspaceTools.Pivot.Draft
import WorkspaceTools.Pivot.Schema
import WorkspaceTools.Pivot.Spec
import WorkspaceTools.Pivot.Store
import WorkspaceTools.Pivot.Table
import WorkspaceTools.Report.Calendar
import WorkspaceTools.Report.Layout
import WorkspaceTools.Report.Mail
import WorkspaceTools.Report.Render
import WorkspaceTools.Report.Sheets
import WorkspaceTools.Schema.Keyword
import WorkspaceTools.Schema.Mismatch
import WorkspaceTools.Service.Address
import WorkspaceTools.Sorting.Runs
import WorkspaceTools.Sorting.Search
import WorkspaceTools.Text.Base64
import WorkspaceTools.Text.Blank
import WorkspaceTools.Text.Digit
import WorkspaceTools.Text.Html
import WorkspaceTools.Text.Likeness
import WorkspaceTools.Text.LowerCase
import WorkspaceTools.Text.Percent
import WorkspaceTools.Text.Printable
import WorkspaceTools.Text.Quoted
import WorkspaceTools.Text.Unit
import WorkspaceTools.Text.Utf8
import WorkspaceTools.Time.Calendar
import WorkspaceTools.Time.DateTime
import WorkspaceTools.Time.IsoText
import WorkspaceTools.Token.Grant
import WorkspaceTools.Token.Record
import WorkspaceTools.Token.Store
import WorkspaceTools.Tool.Answer
import WorkspaceTools.Tool.Calendar
import WorkspaceTools.Tool.Call
import WorkspaceTools.Tool.Catalog
import WorkspaceTools.Tool.Mail
import WorkspaceTools.Tool.Name
import WorkspaceTools.Tool.Sheets
import WorkspaceTools.Web.Address
import WorkspaceTools.Proofs.Check.Field
import WorkspaceTools.Proofs.Exchange.Refusal
import WorkspaceTools.Proofs.Exchange.Run
import WorkspaceTools.Proofs.Exchange.Selection
import WorkspaceTools.Proofs.Grid.Column
import WorkspaceTools.Proofs.Grid.Grammar
import WorkspaceTools.Proofs.Json.Equality
import WorkspaceTools.Proofs.Pivot.Agreement
import WorkspaceTools.Proofs.Grid.Range
import WorkspaceTools.Proofs.Grid.Reference
import WorkspaceTools.Proofs.Grid.Resolution
import WorkspaceTools.Proofs.Json.Numeral
import WorkspaceTools.Proofs.Json.Readable
import WorkspaceTools.Proofs.Json.RoundTrip
import WorkspaceTools.Proofs.Json.Text
import WorkspaceTools.Proofs.Number.Decimal
import WorkspaceTools.Proofs.Number.Rounding
import WorkspaceTools.Proofs.Number.Scale
import WorkspaceTools.Proofs.Number.Shortest
import WorkspaceTools.Proofs.Outcome
import WorkspaceTools.Proofs.Pivot.Checked
import WorkspaceTools.Proofs.Pivot.Exchange
import WorkspaceTools.Proofs.Pivot.Modification
import WorkspaceTools.Proofs.Pivot.Placement
import WorkspaceTools.Proofs.Pivot.Steps
import WorkspaceTools.Proofs.Text.Utf8
import WorkspaceTools.Proofs.Time.Calendar
import WorkspaceTools.Proofs.Time.Document
import WorkspaceTools.Proofs.Time.Reading
import WorkspaceTools.Proofs.Token.Record
import WorkspaceTools.Proofs.Token.Renewal
import WorkspaceTools.Proofs.Token.Store
import WorkspaceTools.Proofs.Tool.Refusal
import WorkspaceTools.Proofs.Token.Selection
import WorkspaceTools.Proofs.Token.Request
import WorkspaceTools.Proofs.Consent.Redirect
import WorkspaceTools.Proofs.Grid.ColumnOrder
import WorkspaceTools.Proofs.Json.Grammar
import WorkspaceTools.Proofs.Report.Render
import WorkspaceTools.Proofs.Json.Bounds
import WorkspaceTools.Proofs.Text.Decoding
import WorkspaceTools.Proofs.Token.File
import WorkspaceTools.Proofs.Token.Advice
import WorkspaceTools.Proofs.Text.Percent
import WorkspaceTools.Proofs.Web.Address
import WorkspaceTools.Proofs.Consent.Authorization
import WorkspaceTools.Proofs.Command.Readiness
import WorkspaceTools.Proofs.Exchange.Requests
import WorkspaceTools.Proofs.Tool.Format
import WorkspaceTools.Proofs.Tool.Endpoint
import WorkspaceTools.Proofs.Tool.Confinement
import WorkspaceTools.Proofs.Pivot.Region
import WorkspaceTools.Proofs.Mail.Body
import WorkspaceTools.Proofs.Report.Paging
import WorkspaceTools.Proofs.Token.Lifetime
import WorkspaceTools.Proofs.Tool.Listing
import WorkspaceTools.Proofs.Text.Base64
import WorkspaceTools.Proofs.Mail.Plain
import WorkspaceTools.Proofs.Check.Numeral
import WorkspaceTools.Proofs.Pivot.Column
import WorkspaceTools.Proofs.Pivot.Diagnosis
import WorkspaceTools.Proofs.Pivot.Sorting
import WorkspaceTools.Proofs.Pivot.Offset
import WorkspaceTools.Proofs.Pivot.Bucketing
import WorkspaceTools.Proofs.Exchange.Series
import WorkspaceTools.Proofs.Mail.Header
import WorkspaceTools.Proofs.Mail.Attachment
import WorkspaceTools.Proofs.Tool.MailList
import WorkspaceTools.Proofs.Tool.EmptyList
import WorkspaceTools.Proofs.Text.Html
import WorkspaceTools.Proofs.Mail.Delivery
import WorkspaceTools.Proofs.Report.Table
import WorkspaceTools.Proofs.Mail.Folding
import WorkspaceTools.Proofs.Mail.Draft
import WorkspaceTools.Proofs.Tool.Draft
import WorkspaceTools.Proofs.Tool.RangeAddress
import WorkspaceTools.Proofs.Sorting.Search
import WorkspaceTools.Proofs.Sorting.Stable
import WorkspaceTools.Proofs.Sorting.Runs
import WorkspaceTools.Proofs.Sorting.Merges
import WorkspaceTools.Proofs.Tool.OrderedList
import WorkspaceTools.Proofs.Token.Verdict
import WorkspaceTools.Proofs.Time.Universal
import WorkspaceTools.Proofs.Command.Expiry
import WorkspaceTools.Proofs.Mail.Forest
