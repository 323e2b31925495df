import Flowline.Catalog.Basic
import Flowline.Catalog.Builtin
import Flowline.Catalog.Periodic
import Flowline.Catalog.Piece
import Flowline.Catalog.Registry
import Flowline.Catalog.Sharing
import Flowline.Check.Candidate
import Flowline.Check.Offline
import Flowline.Check.Policy
import Flowline.Check.Semantic
import Flowline.Check.Shape
import Flowline.Command.Line
import Flowline.Command.Run
import Flowline.Cron
import Flowline.Deployment.Conversation
import Flowline.Deployment.Deployed
import Flowline.Deployment.Plan
import Flowline.Deployment.Saga
import Flowline.Deployment.Timeline
import Flowline.Dialogue
import Flowline.Dict
import Flowline.Draft.Candidate
import Flowline.Draft.Commas
import Flowline.Draft.Error
import Flowline.Draft.Prompt
import Flowline.Draft.Repair
import Flowline.Engine.Address
import Flowline.Engine.Client
import Flowline.Engine.Connection
import Flowline.Engine.Error
import Flowline.Engine.Mutation
import Flowline.Engine.Request
import Flowline.Engine.Response
import Flowline.Engine.Traffic
import Flowline.Engine.Wire
import Flowline.Flow.Basic
import Flowline.Flow.Decode
import Flowline.Flow.Encode
import Flowline.Flow.Path
import Flowline.Issue
import Flowline.Json.Basic
import Flowline.Json.Decode
import Flowline.Json.Fault
import Flowline.Json.Parser
import Flowline.Json.Printer
import Flowline.Limits
import Flowline.Main
import Flowline.Number.Binary64
import Flowline.Number.Extended
import Flowline.Number.Shortest
import Flowline.Session.Deploy
import Flowline.Session.Error
import Flowline.Session.Generate
import Flowline.Settings.Basic
import Flowline.Settings.Decode
import Flowline.Settings.Document
import Flowline.Settings.Dotenv
import Flowline.Settings.Environment
import Flowline.Settings.Error
import Flowline.Settings.File
import Flowline.Settings.Load
import Flowline.Settings.Scalar
import Flowline.Settings.Toml
import Flowline.Settings.Tree
import Flowline.Settings.Yaml
import Flowline.Step.Basic
import Flowline.Text.Alphanumeric
import Flowline.Text.Alphanumeric.Table
import Flowline.Text.Blank
import Flowline.Text.ByteOrderMark
import Flowline.Text.Case.Table
import Flowline.Text.Digits
import Flowline.Text.LowerCase
import Flowline.Text.Occurs
import Flowline.Text.Print.Table
import Flowline.Text.Quoted
import Flowline.Text.Ranges
import Flowline.Text.Utf8
import Flowline.Token.Keeper
import Flowline.Token.Report
import Flowline.Token.Timeline
import Flowline.Proofs.Flow.Depth
import Flowline.Proofs.Flow.Decoding
import Flowline.Proofs.Check.Overlooked
import Flowline.Proofs.Check.Acceptance
import Flowline.Proofs.Session.Agreement
import Flowline.Proofs.Deployment.StepName
import Flowline.Proofs.Deployment.Answers
import Flowline.Proofs.Deployment.Graph
import Flowline.Proofs.Deployment.Cleanup
import Flowline.Proofs.Deployment.TriggerStep
import Flowline.Proofs.Session.Interval
import Flowline.Proofs.Check.Encoded
import Flowline.Proofs.Draft.Commas
import Flowline.Proofs.Draft.Reading
import Flowline.Proofs.Draft.Candidate
import Flowline.Proofs.Token.Freshness
import Flowline.Proofs.Token.History
import Flowline.Proofs.Token.Step
import Flowline.Proofs.Token.SingleFlight
import Flowline.Proofs.Engine.Refusal
import Flowline.Proofs.Engine.Lone
import Flowline.Proofs.Draft.Repair
import Flowline.Proofs.Session.Sent
import Flowline.Proofs.Session.Advice
import Flowline.Proofs.Session.Offline
import Flowline.Proofs.Json.Arranged
import Flowline.Proofs.Flow.RoundTrip
import Flowline.Proofs.Json.Layout
import Flowline.Proofs.Flow.Layouts
import Flowline.Proofs.Check.Forms
import Flowline.Proofs.Check.Readable
import Flowline.Proofs.Flow.PathText
import Flowline.Proofs.Deployment.Naming
import Flowline.Proofs.Catalog.Sharing
import Flowline.Proofs.Json.Spelled
import Flowline.Proofs.Json.Order
import Flowline.Proofs.Flow.Orders
import Flowline.Proofs.Check.Altered
import Flowline.Proofs.Check.Nulls
import Flowline.Proofs.Check.Respelled
import Flowline.Proofs.Check.Frequency
import Flowline.Proofs.Session.Source
import Flowline.Proofs.Deployment.Deadline
import Flowline.Proofs.Deployment.Custody
import Flowline.Proofs.Flow.Arms
import Flowline.Proofs.Flow.Nesting
import Flowline.Proofs.Check.Located
import Flowline.Proofs.Deployment.Arms
import Flowline.Proofs.Session.Looser
import Flowline.Proofs.Dict
import Flowline.Proofs.Text.Bytes
import Flowline.Proofs.Catalog.Index
import Flowline.Proofs.Text.Casing
import Flowline.Proofs.Engine.Coverage
import Flowline.Proofs.Text.Percent
import Flowline.Proofs.Catalog.Similar
import Flowline.Proofs.Engine.Paths
import Flowline.Proofs.Draft.Trailing
import Flowline.Proofs.Flow.Visits
import Flowline.Proofs.Catalog.Listing
