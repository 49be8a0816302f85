import FaultPages.App.Server
import FaultPages.Json.Reader
import FaultPages.Net.Listen
import FaultPages.Settings.Load
import FaultPages.Template.Sink
import FaultPages.Proofs.Placeholder.Recording
import FaultPages.Proofs.Template.Registering
import FaultPages.Proofs.Template.Compiled
import FaultPages.Proofs.Text.Entities
import FaultPages.Proofs.Template.Markup
import FaultPages.Proofs.Http.Uri
import FaultPages.Proofs.App.Dispatch
import FaultPages.Proofs.Text.Bytes
import FaultPages.Proofs.Placeholder.Closing
import FaultPages.Proofs.Placeholder.Balance
import FaultPages.Proofs.Placeholder.Spans
import FaultPages.Proofs.Placeholder.Visits
import FaultPages.Proofs.Placeholder.Substitution
import FaultPages.Proofs.Text.Cutting
import FaultPages.Proofs.Path.Grammar
import FaultPages.Proofs.Path.Reading
import FaultPages.Proofs.Path.Segments
import FaultPages.Proofs.Path.Parsing
import FaultPages.Proofs.Http.Lookup
import FaultPages.Proofs.Http.Router
import FaultPages.Proofs.App.Mounting
import FaultPages.Proofs.App.Queries
import FaultPages.Proofs.App.Reporting
import FaultPages.Proofs.Attempts
import FaultPages.Proofs.Template.Readings
import FaultPages.Proofs.App.Concealment
import FaultPages.Proofs.Placeholder.Inner
import FaultPages.Proofs.Path.Places
import FaultPages.Proofs.Path.Nesting
import FaultPages.Proofs.Template.Agreement
import FaultPages.Proofs.Settings.Paths
import FaultPages.Proofs.Http.Pattern
import FaultPages.Proofs.View.Whitelabel
import FaultPages.Proofs.App.Building
import FaultPages.Proofs.Pages.Registry
import FaultPages.Proofs.Path.RootNames
import FaultPages.Proofs.Template.Dependence
import FaultPages.Proofs.Http.Endpoints
import FaultPages.Proofs.Http.Following
import FaultPages.Proofs.Http.Routes
import FaultPages.Proofs.Text.Digits
import FaultPages.Proofs.Path.Printing
import FaultPages.Proofs.Placeholder.Appending
import FaultPages.Proofs.Template.Appending
import FaultPages.Proofs.Path.Keys
import FaultPages.Proofs.View.Consulting
import FaultPages.Proofs.View.Steps
import FaultPages.Proofs.App.Replies
import FaultPages.Proofs.Template.Unescaping
import FaultPages.Proofs.Template.Writing
import FaultPages.Proofs.App.Accepting
import FaultPages.Proofs.Toml.Tables
import FaultPages.Proofs.Settings.Overriding
import FaultPages.Proofs.Text.Boundaries
import FaultPages.Proofs.Placeholder.Matching
import FaultPages.Proofs.Placeholder.Indices
import FaultPages.Proofs.Path.Positions
import FaultPages.Proofs.Path.Indices
import FaultPages.Proofs.Path.IndexedReading
