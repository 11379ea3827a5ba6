import InstanceIdentity.Binary64.Basic
import InstanceIdentity.Binary64.Decimal
import InstanceIdentity.Collection.Collector
import InstanceIdentity.Collection.Document
import InstanceIdentity.Collection.Failure
import InstanceIdentity.Collection.World
import InstanceIdentity.Detection.Detector
import InstanceIdentity.Detection.Profile
import InstanceIdentity.Detection.Signal
import InstanceIdentity.Diagnostics.Detection
import InstanceIdentity.Diagnostics.Event
import InstanceIdentity.Dictionary
import InstanceIdentity.Digest
import InstanceIdentity.Facts
import InstanceIdentity.Http.Message
import InstanceIdentity.Http.Transport
import InstanceIdentity.Instant
import InstanceIdentity.Json.Basic
import InstanceIdentity.Json.Cursor
import InstanceIdentity.Json.Fault
import InstanceIdentity.Json.Parser
import InstanceIdentity.Json.Printer
import InstanceIdentity.Json.Scalar
import InstanceIdentity.Json.Shape
import InstanceIdentity.Json.Shape.Document
import InstanceIdentity.Json.Shape.Tree
import InstanceIdentity.Proofs.Binary64.Decimal
import InstanceIdentity.Proofs.Binary64.Digits
import InstanceIdentity.Proofs.Binary64.Error
import InstanceIdentity.Proofs.Binary64.Literal
import InstanceIdentity.Proofs.Binary64.Magnitude
import InstanceIdentity.Proofs.Binary64.Order
import InstanceIdentity.Proofs.Binary64.Rounding
import InstanceIdentity.Proofs.Binary64.Sums
import InstanceIdentity.Proofs.Binary64.Text
import InstanceIdentity.Proofs.Collection.Deadline
import InstanceIdentity.Proofs.Collection.Endless
import InstanceIdentity.Proofs.Collection.Exchanges
import InstanceIdentity.Proofs.Collection.Excuse
import InstanceIdentity.Proofs.Collection.FileRefinement
import InstanceIdentity.Proofs.Collection.Freshness
import InstanceIdentity.Proofs.Collection.Headers
import InstanceIdentity.Proofs.Collection.History
import InstanceIdentity.Proofs.Collection.Lockstep
import InstanceIdentity.Proofs.Collection.Pairing
import InstanceIdentity.Proofs.Collection.Plain
import InstanceIdentity.Proofs.Collection.Protocol
import InstanceIdentity.Proofs.Collection.Requests
import InstanceIdentity.Proofs.Collection.Resolution
import InstanceIdentity.Proofs.Collection.Secrecy
import InstanceIdentity.Proofs.Collection.Session
import InstanceIdentity.Proofs.Collection.Sharing
import InstanceIdentity.Proofs.Collection.Signature
import InstanceIdentity.Proofs.Collection.Simulation
import InstanceIdentity.Proofs.Collection.Spacing
import InstanceIdentity.Proofs.Collection.StoreFailures
import InstanceIdentity.Proofs.Collection.StoreWrites
import InstanceIdentity.Proofs.Collection.Trace
import InstanceIdentity.Proofs.Collection.Veil
import InstanceIdentity.Proofs.Detection.Evaluation
import InstanceIdentity.Proofs.Detection.IgnoringCase
import InstanceIdentity.Proofs.Detection.Layout
import InstanceIdentity.Proofs.Dictionary
import InstanceIdentity.Proofs.Facts.Exchange
import InstanceIdentity.Proofs.Facts.Lookup
import InstanceIdentity.Proofs.Json.Approximation
import InstanceIdentity.Proofs.Json.Asides
import InstanceIdentity.Proofs.Json.Depth
import InstanceIdentity.Proofs.Json.Dictionaries
import InstanceIdentity.Proofs.Json.Fields
import InstanceIdentity.Proofs.Json.Grammar
import InstanceIdentity.Proofs.Json.Inversion
import InstanceIdentity.Proofs.Json.Normal
import InstanceIdentity.Proofs.Json.Numbers
import InstanceIdentity.Proofs.Json.Objects
import InstanceIdentity.Proofs.Json.Reading
import InstanceIdentity.Proofs.Json.Records
import InstanceIdentity.Proofs.Json.Recovery
import InstanceIdentity.Proofs.Json.Rendering
import InstanceIdentity.Proofs.Json.Skipping
import InstanceIdentity.Proofs.Json.Traversal
import InstanceIdentity.Proofs.Json.Values
import InstanceIdentity.Proofs.Lifetime
import InstanceIdentity.Proofs.Provider.Drafting
import InstanceIdentity.Proofs.Provider.Layout
import InstanceIdentity.Proofs.Provider.Learning
import InstanceIdentity.Proofs.Provider.Origins
import InstanceIdentity.Proofs.Provider.Ranking
import InstanceIdentity.Proofs.Provider.Rebasing
import InstanceIdentity.Proofs.Provider.Registry
import InstanceIdentity.Proofs.Provider.Validity
import InstanceIdentity.Proofs.RoundTrip
import InstanceIdentity.Proofs.Store.Directories
import InstanceIdentity.Proofs.Store.Documents
import InstanceIdentity.Proofs.Store.Drift
import InstanceIdentity.Proofs.Store.Effects
import InstanceIdentity.Proofs.Store.Exposure
import InstanceIdentity.Proofs.Store.Names
import InstanceIdentity.Proofs.Store.Operations
import InstanceIdentity.Proofs.Store.Payload
import InstanceIdentity.Proofs.Store.Places
import InstanceIdentity.Proofs.Store.Race
import InstanceIdentity.Proofs.Store.Renaming
import InstanceIdentity.Proofs.Store.Replacement
import InstanceIdentity.Proofs.Store.Saving
import InstanceIdentity.Proofs.Store.Seconds
import InstanceIdentity.Proofs.Store.Siblings
import InstanceIdentity.Proofs.Store.Success
import InstanceIdentity.Proofs.Store.Temporaries
import InstanceIdentity.Proofs.Store.Timestamps
import InstanceIdentity.Proofs.Store.Walks
import InstanceIdentity.Proofs.Text.Lowercase
import InstanceIdentity.Provider.Builtin
import InstanceIdentity.Provider.Descriptor
import InstanceIdentity.Provider.Draft
import InstanceIdentity.Provider.Layout
import InstanceIdentity.Provider.Registry
import InstanceIdentity.ProviderId
import InstanceIdentity.Store.Basic
import InstanceIdentity.Store.CacheFile
import InstanceIdentity.Store.FileStore
import InstanceIdentity.Store.FileSystem
import InstanceIdentity.Store.Hosted
import InstanceIdentity.Store.Path
import InstanceIdentity.Text.CaseTables
import InstanceIdentity.Text.Characters
import InstanceIdentity.Text.Lowercase
import InstanceIdentity.Text.Normal
import InstanceIdentity.Text.Normal.Tables
import InstanceIdentity.Text.Printable
import InstanceIdentity.Text.Quoted
import InstanceIdentity.Text.Search
import InstanceIdentity.Token.Secret
import InstanceIdentity.Token.Session
import InstanceIdentity.Url.Address
import InstanceIdentity.Url.Basic
import InstanceIdentity.Url.Domain
import InstanceIdentity.Url.Domain.Rules
import InstanceIdentity.Url.Domain.Tables
import InstanceIdentity.Url.Origin
import InstanceIdentity.Url.Parser
import InstanceIdentity.Url.Percent
import InstanceIdentity.Url.Punycode
