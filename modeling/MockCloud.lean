import MockCloud.Arn
import MockCloud.Bucket.Basic
import MockCloud.Bucket.Lifecycle
import MockCloud.Cloud
import MockCloud.Config
import MockCloud.Decimal.Shortest
import MockCloud.Digest.Sha256
import MockCloud.Fault
import MockCloud.Ident
import MockCloud.Instant
import MockCloud.Json.Number
import MockCloud.Json.Parse
import MockCloud.Json.Record
import MockCloud.Json.ToTree
import MockCloud.Json.Token
import MockCloud.Json.Tree
import MockCloud.Json.Value
import MockCloud.Mail.Address
import MockCloud.Mail.ConfigurationSet
import MockCloud.Mail.Error
import MockCloud.Mail.Header
import MockCloud.Mail.Identity
import MockCloud.Mail.Message
import MockCloud.Mail.Office
import MockCloud.Mail.Receipt
import MockCloud.Mail.Sending
import MockCloud.Mail.Substitution
import MockCloud.Mail.Template
import MockCloud.Network.Acl
import MockCloud.Network.Basic
import MockCloud.Network.Cidr
import MockCloud.Network.Error
import MockCloud.Network.Filter
import MockCloud.Network.Gateway
import MockCloud.Network.Labels
import MockCloud.Network.Vpc
import MockCloud.Outcome
import MockCloud.Page
import MockCloud.Pipeline.Basic
import MockCloud.Pipeline.Declaration
import MockCloud.Proofs.Arn.RoundTrip
import MockCloud.Proofs.Bucket.Lifecycle
import MockCloud.Proofs.Bucket.Naming
import MockCloud.Proofs.Bucket.Operation
import MockCloud.Proofs.Cloud.Filing
import MockCloud.Proofs.Cloud.Listing
import MockCloud.Proofs.Cloud.Operation
import MockCloud.Proofs.Cloud.Partition
import MockCloud.Proofs.Cloud.Refusal
import MockCloud.Proofs.Cloud.Run
import MockCloud.Proofs.Cloud.TagRules
import MockCloud.Proofs.Config.Validation
import MockCloud.Proofs.Json.Record
import MockCloud.Proofs.Json.RoundTrip
import MockCloud.Proofs.Json.Value
import MockCloud.Proofs.Mail.Accounting
import MockCloud.Proofs.Mail.AddressForm
import MockCloud.Proofs.Mail.Addressing
import MockCloud.Proofs.Mail.Authority
import MockCloud.Proofs.Mail.Bulk
import MockCloud.Proofs.Mail.EventDestinations
import MockCloud.Proofs.Mail.Filling
import MockCloud.Proofs.Mail.HeaderLines
import MockCloud.Proofs.Mail.HeaderScan
import MockCloud.Proofs.Mail.MailFrom
import MockCloud.Proofs.Mail.Mailbox
import MockCloud.Proofs.Mail.Notice
import MockCloud.Proofs.Mail.Operation
import MockCloud.Proofs.Mail.ReceiptOrder
import MockCloud.Proofs.Mail.Recipients
import MockCloud.Proofs.Mail.Recording
import MockCloud.Proofs.Mail.Rendering
import MockCloud.Proofs.Mail.Spelling
import MockCloud.Proofs.Mail.Splitting
import MockCloud.Proofs.Network.Association
import MockCloud.Proofs.Network.Block
import MockCloud.Proofs.Network.BlockText
import MockCloud.Proofs.Network.Entries
import MockCloud.Proofs.Network.Filing
import MockCloud.Proofs.Network.Foundation
import MockCloud.Proofs.Network.Frame
import MockCloud.Proofs.Network.Host
import MockCloud.Proofs.Network.LastEntries
import MockCloud.Proofs.Network.Lending
import MockCloud.Proofs.Network.Listing
import MockCloud.Proofs.Network.Placement
import MockCloud.Proofs.Network.Query
import MockCloud.Proofs.Network.Reference
import MockCloud.Proofs.Network.Retagging
import MockCloud.Proofs.Network.Screening
import MockCloud.Proofs.Network.Stranded
import MockCloud.Proofs.Network.Subnet
import MockCloud.Proofs.Network.TagListing
import MockCloud.Proofs.Network.Tags
import MockCloud.Proofs.Page.Binding
import MockCloud.Proofs.Page.Changing
import MockCloud.Proofs.Page.Following
import MockCloud.Proofs.Page.Listing
import MockCloud.Proofs.Page.Repeating
import MockCloud.Proofs.Page.Token
import MockCloud.Proofs.Pipeline.Addressing
import MockCloud.Proofs.Pipeline.Creation
import MockCloud.Proofs.Pipeline.Defaults
import MockCloud.Proofs.Pipeline.History
import MockCloud.Proofs.Pipeline.Operation
import MockCloud.Proofs.Pipeline.RoundTrip
import MockCloud.Proofs.Pipeline.Stages
import MockCloud.Proofs.Role.Duration
import MockCloud.Proofs.Role.Filing
import MockCloud.Proofs.Role.FirstStatement
import MockCloud.Proofs.Role.Naming
import MockCloud.Proofs.Role.Operation
import MockCloud.Proofs.Role.Refusal
import MockCloud.Proofs.Role.Trust
import MockCloud.Proofs.Store.Kinds
import MockCloud.Proofs.Store.Refinement
import MockCloud.Proofs.Tag.LastWriter
import MockCloud.Proofs.Tag.Rules
import MockCloud.Proofs.Tag.Services
import MockCloud.Proofs.Tag.Violation
import MockCloud.Proofs.Tag.Writes
import MockCloud.Proofs.Tagging.Addressing
import MockCloud.Proofs.Tagging.BucketNames
import MockCloud.Proofs.Tagging.Frame
import MockCloud.Proofs.Tagging.Handling
import MockCloud.Proofs.Tagging.Inventory
import MockCloud.Proofs.Tagging.Listing
import MockCloud.Proofs.Tagging.NetworkViews
import MockCloud.Proofs.Tagging.Order
import MockCloud.Proofs.Tagging.Place
import MockCloud.Proofs.Tagging.Query
import MockCloud.Proofs.Tagging.Summary
import MockCloud.Proofs.Text.Decimal
import MockCloud.Proofs.Text.Expression
import MockCloud.Proofs.Text.Globbing
import MockCloud.Proofs.Text.Trimming
import MockCloud.Proofs.Topic.Creation
import MockCloud.Role.Basic
import MockCloud.Role.Directory
import MockCloud.Scope
import MockCloud.SortedMap
import MockCloud.Store
import MockCloud.Tag
import MockCloud.Tagging
import MockCloud.Text.Blank
import MockCloud.Text.Cut
import MockCloud.Text.Hex
import MockCloud.Text.Pieces
import MockCloud.Text.Wildcard
import MockCloud.Topic.Basic
