import RouteDoc.Command.Line
import RouteDoc.Command.Run
import RouteDoc.Config
import RouteDoc.Disk.Path
import RouteDoc.Disk.Scan
import RouteDoc.Disk.Tree
import RouteDoc.Document.Basic
import RouteDoc.Document.Draft
import RouteDoc.Document.Json
import RouteDoc.Endpoint.Basic
import RouteDoc.Endpoint.Describe
import RouteDoc.Endpoint.Inference
import RouteDoc.Endpoint.Security
import RouteDoc.Error
import RouteDoc.Go.Cursor
import RouteDoc.Go.Grammar
import RouteDoc.Go.Literal
import RouteDoc.Go.Source
import RouteDoc.Go.Syntax
import RouteDoc.Go.Token
import RouteDoc.Go.TypeText
import RouteDoc.Go.Walk
import RouteDoc.Json.Basic
import RouteDoc.Json.Text
import RouteDoc.KeyMap
import RouteDoc.Layers
import RouteDoc.Main
import RouteDoc.Model
import RouteDoc.Project
import RouteDoc.Route.Basic
import RouteDoc.Route.Extract
import RouteDoc.Schema.Basic
import RouteDoc.Schema.Generate
import RouteDoc.Schema.Json
import RouteDoc.Symbols
import RouteDoc.Text.Alphanumeric
import RouteDoc.Text.Basic
import RouteDoc.Text.Case
import RouteDoc.Text.Identifier
import RouteDoc.Yaml.Cursor
import RouteDoc.Yaml.Plain
import RouteDoc.Yaml.Read
import RouteDoc.Yaml.Scalar
import RouteDoc.Yaml.Text
import RouteDoc.Proofs.Disk.Blank
import RouteDoc.Proofs.Disk.Creation
import RouteDoc.Proofs.Disk.Path
import RouteDoc.Proofs.Disk.Scan
import RouteDoc.Proofs.Disk.Tree
import RouteDoc.Proofs.Disk.Walk
import RouteDoc.Proofs.Document.Building
import RouteDoc.Proofs.Document.Closure
import RouteDoc.Proofs.Document.Operations
import RouteDoc.Proofs.Document.Responses
import RouteDoc.Proofs.Document.RoundTrip
import RouteDoc.Proofs.Document.Security
import RouteDoc.Proofs.Endpoint.Growth
import RouteDoc.Proofs.Endpoint.Independence
import RouteDoc.Proofs.Endpoint.Parameters
import RouteDoc.Proofs.Endpoint.Permissions
import RouteDoc.Proofs.Endpoint.Responses
import RouteDoc.Proofs.Endpoint.Security
import RouteDoc.Proofs.Endpoint.Siblings
import RouteDoc.Proofs.Go.Balanced
import RouteDoc.Proofs.Go.Literal
import RouteDoc.Proofs.Go.Quoting
import RouteDoc.Proofs.Go.Tag
import RouteDoc.Proofs.Go.TypeText
import RouteDoc.Proofs.Go.Walk
import RouteDoc.Proofs.Json
import RouteDoc.Proofs.KeyMap
import RouteDoc.Proofs.Last
import RouteDoc.Proofs.Layers.Methods
import RouteDoc.Proofs.Layers.Receivers
import RouteDoc.Proofs.Model.Lookup
import RouteDoc.Proofs.Project.Agreement
import RouteDoc.Proofs.Project.HarmlessFile
import RouteDoc.Proofs.Project.Selection
import RouteDoc.Proofs.Repetition
import RouteDoc.Proofs.Requests
import RouteDoc.Proofs.Route.Bindings
import RouteDoc.Proofs.Route.Groups
import RouteDoc.Proofs.Route.Joining
import RouteDoc.Proofs.Route.Paths
import RouteDoc.Proofs.Route.Registrations
import RouteDoc.Proofs.Route.Templates
import RouteDoc.Proofs.Schema.Calls
import RouteDoc.Proofs.Schema.Cycles
import RouteDoc.Proofs.Schema.Growth
import RouteDoc.Proofs.Schema.Reachable
import RouteDoc.Proofs.Schema.Refs
import RouteDoc.Proofs.Schema.RoundTrip
import RouteDoc.Proofs.Schema.Shape
import RouteDoc.Proofs.Schema.WellFormed
import RouteDoc.Proofs.Symbols
import RouteDoc.Proofs.Text
