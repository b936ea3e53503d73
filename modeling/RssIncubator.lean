import RssIncubator.Lib.Prog
import RssIncubator.Lib.FileTree
import RssIncubator.Lib.FileCalls
import RssIncubator.Lib.Sha256
import RssIncubator.Lib.Runs
import RssIncubator.Lib.Framing
import RssIncubator.Lib.Utf8
import RssIncubator.Lib.CText
import RssIncubator.Lib.Base64
import RssIncubator.Lib.Json
import RssIncubator.Lib.LinkTree
import RssIncubator.Lib.Connection
import RssIncubator.Lib.Persistent
import RssIncubator.Agent.Types
import RssIncubator.Agent.Catalog
import RssIncubator.Agent.State
import RssIncubator.Agent.Verify
import RssIncubator.Agent.Store
import RssIncubator.Agent.StoreSpec
import RssIncubator.Agent.Operations
import RssIncubator.Agent.OpenSpec
import RssIncubator.Agent.Plan
import RssIncubator.Agent.Decides
import RssIncubator.Agent.Device
import RssIncubator.Agent.Invariant
import RssIncubator.Agent.Reachable
import RssIncubator.Agent.Phase
import RssIncubator.Agent.Candidates
import RssIncubator.Agent.Journal
import RssIncubator.Agent.Position
import RssIncubator.Agent.Durable
import RssIncubator.Agent.Identity
import RssIncubator.Agent.Outbox
import RssIncubator.Agent.Wire
import RssIncubator.Agent.Queries
import RssIncubator.Agent.Drain
import RssIncubator.Agent.Startup
import RssIncubator.Agent.Redelivery
import RssIncubator.Agent.Intake
import RssIncubator.Agent.Preimages
import RssIncubator.Agent.Acceptance
import RssIncubator.Agent.Load
import RssIncubator.Agent.Assertion
import RssIncubator.Agent.CatalogFiles
import RssIncubator.Agent.Linear
import RssIncubator.Agent.Rotations
import RssIncubator.Agent.Provenance
import RssIncubator.Driver.Mqtt
import RssIncubator.Driver.Session
import RssIncubator.Driver.Process
import RssIncubator.Driver.Rounds
import RssIncubator.Driver.Reachable
import RssIncubator.Driver.Changes
import RssIncubator.Driver.Exact
import RssIncubator.Driver.Wires
import RssIncubator.Driver.Puback
import RssIncubator.Driver.Credential
import RssIncubator.Broker.CommandId
import RssIncubator.Broker.Topic
import RssIncubator.Broker.Signing
import RssIncubator.Driver.Scope
import RssIncubator.Product.Mapping
import RssIncubator.Product.Agreement
import RssIncubator.Product.Responses
import RssIncubator.Product.Requests
import RssIncubator.Product.Journey
import RssIncubator.Driver.Tokens
import RssIncubator.Driver.Backpressure
import RssIncubator.Driver.Settlement
import RssIncubator.Driver.Attentive
import RssIncubator.Driver.Switch
import RssIncubator.Driver.Publication
import RssIncubator.Driver.Endings
import RssIncubator.Driver.Shutdown
import RssIncubator.Driver.Authority
import RssIncubator.Broker.Fleet
import RssIncubator.Product.Commands
import RssIncubator.Product.Exchange
import RssIncubator.Control.Callback
import RssIncubator.Lib.Dialogue
import RssIncubator.Control.Urls
import RssIncubator.Control.Login
import RssIncubator.Control.Authenticated
import RssIncubator.Control.Rotate
import RssIncubator.Control.Bearer
import RssIncubator.Control.Audit
