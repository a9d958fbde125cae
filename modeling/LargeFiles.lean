import LargeFiles.Api.Batch
import LargeFiles.Api.Link
import LargeFiles.Api.Lock
import LargeFiles.Branch
import LargeFiles.Bytes
import LargeFiles.Config
import LargeFiles.Config.Text
import LargeFiles.Digest.Block
import LargeFiles.Digest.Crc32
import LargeFiles.Digest.Md5
import LargeFiles.Digest.Sha256
import LargeFiles.Filter.Cache
import LargeFiles.Filter.Content
import LargeFiles.Filter.Depot
import LargeFiles.Filter.Measure
import LargeFiles.Http.Header
import LargeFiles.Http.Host
import LargeFiles.Http.Network
import LargeFiles.Http.Request
import LargeFiles.Http.Status
import LargeFiles.Http.Url
import LargeFiles.Json.Escape
import LargeFiles.Json.Record
import LargeFiles.Json.Token
import LargeFiles.Json.Value
import LargeFiles.LockDescription
import LargeFiles.Metadata.Journal
import LargeFiles.Metadata.Record
import LargeFiles.Metadata.Store
import LargeFiles.Metadata.Table
import LargeFiles.ObjectName
import LargeFiles.ObjectStore
import LargeFiles.Pointer
import LargeFiles.Principal
import LargeFiles.Remote.Client
import LargeFiles.Remote.Connection
import LargeFiles.Remote.Endpoint
import LargeFiles.Remote.Error
import LargeFiles.Remote.Locking
import LargeFiles.Remote.Pool
import LargeFiles.Remote.Service
import LargeFiles.Remote.Transfer
import LargeFiles.Remote.Writer
import LargeFiles.Session
import LargeFiles.SortedMap
import LargeFiles.Spill
import LargeFiles.StoreError
import LargeFiles.Text.Base64
import LargeFiles.Text.Blank
import LargeFiles.Text.Decimal
import LargeFiles.Text.Glyphless
import LargeFiles.Text.Hex
import LargeFiles.Text.Percent
import LargeFiles.Text.Quoted
import LargeFiles.Text.Reader
import LargeFiles.Timestamp
import LargeFiles.Timestamp.Reader
import LargeFiles.Toml.Document
import LargeFiles.Toml.Scalar
import LargeFiles.Toml.Value
import LargeFiles.Wire
import LargeFiles.Proofs.Bytes
import LargeFiles.Proofs.List
import LargeFiles.Proofs.Metadata.Record
import LargeFiles.Proofs.Metadata.Journal
import LargeFiles.Proofs.Metadata.Refinement
import LargeFiles.Proofs.Metadata.Recovery
import LargeFiles.Proofs.ObjectStore
import LargeFiles.Proofs.Text.Hex
import LargeFiles.Proofs.ObjectName
import LargeFiles.Proofs.Remote.Service
import LargeFiles.Proofs.Filter.Cache
import LargeFiles.Proofs.Filter.Isolation
import LargeFiles.Proofs.Filter.Served
import LargeFiles.Proofs.Filter.Recording
import LargeFiles.Proofs.Filter.Coherence
import LargeFiles.Proofs.Filter.RoundTrip
import LargeFiles.Proofs.Filter.Failure
import LargeFiles.Proofs.Filter.Size
import LargeFiles.Proofs.Remote.Locking
import LargeFiles.Proofs.Remote.LockTable
import LargeFiles.Proofs.Remote.HeldLock
import LargeFiles.Proofs.Digest.Crc32
import LargeFiles.Proofs.Metadata.Damage
import LargeFiles.Proofs.Remote.WriterRun
import LargeFiles.Proofs.Filter.Identity
import LargeFiles.Proofs.Http.Url
import LargeFiles.Proofs.Remote.Credentials
import LargeFiles.Proofs.Remote.Twins
import LargeFiles.Proofs.Remote.Confinement
import LargeFiles.Proofs.Http.Exchange
import LargeFiles.Proofs.Http.Request
import LargeFiles.Proofs.Remote.Answer
import LargeFiles.Proofs.Remote.Acquisition
import LargeFiles.Proofs.Remote.Paging
import LargeFiles.Proofs.Remote.Upload
import LargeFiles.Proofs.Remote.Binding
import LargeFiles.Proofs.Remote.ContentAddressing
import LargeFiles.Proofs.Remote.Ownership
import LargeFiles.Proofs.SortedMap
import LargeFiles.Proofs.Session.Tracking
import LargeFiles.Proofs.Remote.Scope
import LargeFiles.Proofs.Text.Decimal
import LargeFiles.Proofs.Json.Escape
import LargeFiles.Proofs.Json.Number
import LargeFiles.Proofs.Json.Text
import LargeFiles.Proofs.Json.Record
import LargeFiles.Proofs.Timestamp
import LargeFiles.Proofs.Api.Message
import LargeFiles.Proofs.Api.RoundTrip
import LargeFiles.Proofs.Pointer.Grammar
import LargeFiles.Proofs.Pointer.Extension
import LargeFiles.Proofs.Filter.Detection
import LargeFiles.Proofs.Remote.Conflict
import LargeFiles.Proofs.Remote.Release
import LargeFiles.Proofs.Remote.Stealing
import LargeFiles.Proofs.Remote.Undo
import LargeFiles.Proofs.Branch.Grammar
import LargeFiles.Proofs.Branch.RoundTrip
import LargeFiles.Proofs.Filter.CheapSize
import LargeFiles.Proofs.Filter.MeasuredOnce
import LargeFiles.Proofs.Spill
import LargeFiles.Proofs.Remote.Download
import LargeFiles.Proofs.Remote.Readers
import LargeFiles.Proofs.Remote.LinkHeaders
import LargeFiles.Proofs.Text.Percent
import LargeFiles.Proofs.Http.Query
import LargeFiles.Proofs.Http.Path
import LargeFiles.Proofs.Http.Join
import LargeFiles.Proofs.Http.Tidy
import LargeFiles.Proofs.Remote.Cursors
import LargeFiles.Proofs.Remote.Removal
import LargeFiles.Proofs.Remote.UnlockAddress
import LargeFiles.Proofs.Remote.ServiceAddress
import LargeFiles.Proofs.Remote.Pool
import LargeFiles.Proofs.Bytes.Order
import LargeFiles.Proofs.Remote.Listing
import LargeFiles.Proofs.Metadata.Oversize
