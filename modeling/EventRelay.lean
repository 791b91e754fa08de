import EventRelay.Base64
import EventRelay.Catalog.Basic
import EventRelay.Catalog.Codec
import EventRelay.Catalog.Error
import EventRelay.Catalog.Seed
import EventRelay.Client
import EventRelay.CommandLine.Arguments
import EventRelay.CommandLine.Command
import EventRelay.CommandLine.Run
import EventRelay.ConfigApi.Handler
import EventRelay.ConfigApi.Resource
import EventRelay.Decimal.Double
import EventRelay.Decimal.Shortest
import EventRelay.Dispatch.Activity
import EventRelay.Dispatch.Delivery
import EventRelay.Dispatch.Dispatcher
import EventRelay.Draw
import EventRelay.Event.Basic
import EventRelay.Event.Codec
import EventRelay.Event.OfRequest
import EventRelay.Event.System
import EventRelay.EventType
import EventRelay.EventsApi
import EventRelay.Form
import EventRelay.Function.Basic
import EventRelay.Function.Codec
import EventRelay.Function.Invocation
import EventRelay.Function.Weighted
import EventRelay.Gateway.Basic
import EventRelay.Gateway.Requests
import EventRelay.Gateway.Work
import EventRelay.Http.Body
import EventRelay.Http.Cors
import EventRelay.Http.Headers
import EventRelay.Http.Layers
import EventRelay.Http.MediaType
import EventRelay.Http.Message
import EventRelay.Http.ResponseObject
import EventRelay.Http.Status
import EventRelay.Http.Uri
import EventRelay.Identifier
import EventRelay.Json.Basic
import EventRelay.Json.Document
import EventRelay.Json.Number
import EventRelay.Json.Printer
import EventRelay.Json.Reader
import EventRelay.Keyed
import EventRelay.Main
import EventRelay.Metrics
import EventRelay.Net.Call
import EventRelay.Net.Ip
import EventRelay.Net.Script
import EventRelay.Percent
import EventRelay.Retry
import EventRelay.Route.Tree
import EventRelay.RoutingTable
import EventRelay.Service.Launch
import EventRelay.Service.Log
import EventRelay.Service.Running
import EventRelay.Settings.Basic
import EventRelay.Settings.Codec
import EventRelay.Settings.Validation
import EventRelay.Settings.Watch
import EventRelay.Shutdown
import EventRelay.Subscription.Basic
import EventRelay.Subscription.Codec
import EventRelay.Text.Characters
import EventRelay.Text.Compose
import EventRelay.Text.Compose.Table
import EventRelay.Text.Punycode
import EventRelay.Text.Quoted
import EventRelay.Text.Shown
import EventRelay.Text.Split
import EventRelay.Text.Table
import EventRelay.Text.Utf8
import EventRelay.Time.Instant
import EventRelay.Time.Rfc3339
import EventRelay.Toml.Basic
import EventRelay.Toml.Datetimes
import EventRelay.Toml.Numbers
import EventRelay.Toml.Parser
import EventRelay.Toml.Strings
import EventRelay.Url.Basic
import EventRelay.Url.Domain
import EventRelay.Url.Domain.Direction
import EventRelay.Url.Domain.DirectionTable
import EventRelay.Url.Domain.Joining
import EventRelay.Url.Domain.JoiningTable
import EventRelay.Url.Domain.Mapping
import EventRelay.Url.Domain.Table
import EventRelay.Url.Host
import EventRelay.Url.Parser
import EventRelay.Users.Basic
import EventRelay.Users.Registration
import EventRelay.Users.Service
import EventRelay.Users.Signup
import EventRelay.Proofs.Except
import EventRelay.Proofs.NameOrder
import EventRelay.Proofs.Keyed
import EventRelay.Proofs.Route.Compatibility
import EventRelay.Proofs.Route.Contents
import EventRelay.Proofs.Route.Nodes
import EventRelay.Proofs.Route.Acceptance
import EventRelay.Proofs.RoutingTable.Subscribers
import EventRelay.Proofs.RoutingTable.Routes
import EventRelay.Proofs.RoutingTable.Conflicts
import EventRelay.Proofs.Subscription.Normalization
import EventRelay.Proofs.Catalog.Outcomes
import EventRelay.Proofs.Catalog.Reachable
import EventRelay.Proofs.Catalog.Integrity
import EventRelay.Proofs.Catalog.Routing
import EventRelay.Proofs.Dispatch.Ledger
import EventRelay.Proofs.Dispatch.Draining
import EventRelay.Proofs.Dispatch.Serving
import EventRelay.Proofs.Dispatch.Contents
import EventRelay.Proofs.Dispatch.Own
import EventRelay.Proofs.Dispatch.Costs
import EventRelay.Proofs.Catalog.Lookups
import EventRelay.Proofs.Catalog.Writes
import EventRelay.Proofs.Route.Refusal
import EventRelay.Proofs.Catalog.Isolation
import EventRelay.Proofs.ConfigApi.Requests
import EventRelay.Proofs.ConfigApi.Writes
import EventRelay.Proofs.ConfigApi.Spaces
import EventRelay.Proofs.Url.Ascii
import EventRelay.Proofs.Event.Validity
import EventRelay.Proofs.Json.Canonical
import EventRelay.Proofs.EventsApi.Spaces
import EventRelay.Proofs.EventsApi.Emission
import EventRelay.Proofs.EventsApi.Origins
import EventRelay.Proofs.Dispatch.Quiescence
import EventRelay.Proofs.Catalog.SeedSteps
import EventRelay.Proofs.Catalog.Seeding
import EventRelay.Proofs.Event.Imitation
import EventRelay.Proofs.Text.Utf8
import EventRelay.Proofs.Gateway.Performing
import EventRelay.Proofs.EventsApi.Invocation
import EventRelay.Proofs.Time.Calendar
import EventRelay.Proofs.Time.Rfc3339
import EventRelay.Proofs.Json.Records
import EventRelay.Proofs.Event.Codec
import EventRelay.Proofs.Event.Sources
import EventRelay.Proofs.Http.Fields
import EventRelay.Proofs.Event.Modes
import EventRelay.Proofs.Http.CrossOrigin
import EventRelay.Proofs.EventsApi.Preflights
import EventRelay.Proofs.ConfigApi.Functions
import EventRelay.Proofs.ConfigApi.Reload
import EventRelay.Proofs.Text.Split
import EventRelay.Proofs.Http.Described
import EventRelay.Proofs.Http.Targets
import EventRelay.Proofs.Route.Paths
import EventRelay.Proofs.Json.Strings
import EventRelay.Proofs.Json.Texts
import EventRelay.Proofs.Catalog.Targets
import EventRelay.Proofs.Catalog.Unsubscribing
import EventRelay.Proofs.ConfigApi.Authorization
import EventRelay.Proofs.EventsApi.Sharing
import EventRelay.Proofs.EventsApi.Calls
import EventRelay.Proofs.EventsApi.Liveness
import EventRelay.Proofs.Route.Resolution
import EventRelay.Proofs.Catalog.RouteOrders
import EventRelay.Proofs.Gateway.Actions
import EventRelay.Proofs.Catalog.Sizes
import EventRelay.Proofs.Gateway.Gauges
import EventRelay.Proofs.ConfigApi.Placement
import EventRelay.Proofs.Gateway.DefaultSpace
import EventRelay.Proofs.Route.Remains
import EventRelay.Proofs.RoutingTable.Skips
import EventRelay.Proofs.Base64
import EventRelay.Proofs.Percent
import EventRelay.Proofs.Subscription.Identity
import EventRelay.Proofs.Dispatch.Attempts
import EventRelay.Proofs.Json.Numbers
import EventRelay.Proofs.Function.Codec
import EventRelay.Proofs.Subscription.Codec
import EventRelay.Proofs.Catalog.Rewriting
import EventRelay.Proofs.ConfigApi.Resending
import EventRelay.Proofs.EventsApi.Fates
import EventRelay.Proofs.Http.Repeats
import EventRelay.Proofs.Json.Exact
import EventRelay.Proofs.Event.RequestData
import EventRelay.Proofs.EventsApi.Params
import EventRelay.Proofs.EventsApi.PlainRequests
import EventRelay.Proofs.Draw
import EventRelay.Proofs.Function.Weighted
import EventRelay.Proofs.Http.Results
import EventRelay.Proofs.EventsApi.Answers
import EventRelay.Proofs.Gateway.Destinations
import EventRelay.Proofs.Retry.Duration
import EventRelay.Proofs.Retry.Delays
import EventRelay.Proofs.Toml.Integers
import EventRelay.Proofs.Settings.Capacity
import EventRelay.Proofs.Settings.Reloads
import EventRelay.Proofs.Text.LetterCase
import EventRelay.Proofs.Http.OriginPatterns
