import RoutineGate.Auth.Algorithm
import RoutineGate.Auth.Context
import RoutineGate.Auth.Guard
import RoutineGate.Auth.Token
import RoutineGate.Call.Answer
import RoutineGate.Call.Arguments
import RoutineGate.Call.Failure
import RoutineGate.Database.Catalog
import RoutineGate.Database.Connection
import RoutineGate.Database.Error
import RoutineGate.Database.Statement
import RoutineGate.Database.Template
import RoutineGate.Digest.Base64
import RoutineGate.Digest.Sha2
import RoutineGate.Documentation.Block
import RoutineGate.Documentation.Directive
import RoutineGate.Documentation.Tag
import RoutineGate.Expression.Basic
import RoutineGate.Expression.Error
import RoutineGate.Expression.Evaluation
import RoutineGate.Expression.Method
import RoutineGate.Expression.Parser
import RoutineGate.Expression.Token
import RoutineGate.Extension.Registration
import RoutineGate.Extension.Source
import RoutineGate.Fault
import RoutineGate.Format.Identifier
import RoutineGate.Format.Link
import RoutineGate.Format.Mail
import RoutineGate.Format.Moment
import RoutineGate.Http.PathPattern
import RoutineGate.Http.Query
import RoutineGate.Http.Request
import RoutineGate.Http.Response
import RoutineGate.Http.Routing
import RoutineGate.Json.Encoding
import RoutineGate.Json.Parser
import RoutineGate.Json.Payload
import RoutineGate.Json.Printer
import RoutineGate.Number.Binary64
import RoutineGate.Number.Reading
import RoutineGate.Number.Shortest
import RoutineGate.Pattern.Basic
import RoutineGate.Pattern.Error
import RoutineGate.Pattern.Reader
import RoutineGate.Pattern.Search
import RoutineGate.Procedure.Basic
import RoutineGate.Procedure.Name
import RoutineGate.Proofs.Call.Encoding
import RoutineGate.Proofs.Call.Shaping
import RoutineGate.Proofs.Call.Signal
import RoutineGate.Proofs.Database.Execution
import RoutineGate.Proofs.Database.Grouping
import RoutineGate.Proofs.Database.Results
import RoutineGate.Proofs.Database.Selection
import RoutineGate.Proofs.Documentation.Inertness
import RoutineGate.Proofs.Documentation.Problems
import RoutineGate.Proofs.Documentation.Rendering
import RoutineGate.Proofs.Documentation.Spellings
import RoutineGate.Proofs.Expression.Access
import RoutineGate.Proofs.Expression.Faults
import RoutineGate.Proofs.Expression.Grammar
import RoutineGate.Proofs.Expression.Layout
import RoutineGate.Proofs.Expression.Reading
import RoutineGate.Proofs.Expression.Typing
import RoutineGate.Proofs.Extension.Loading
import RoutineGate.Proofs.Http.Covering
import RoutineGate.Proofs.Json.Writing
import RoutineGate.Proofs.Procedure.Naming
import RoutineGate.Proofs.Request.Interleaving
import RoutineGate.Proofs.Request.Merging
import RoutineGate.Proofs.Route.Compilation
import RoutineGate.Proofs.Route.Description
import RoutineGate.Proofs.Schema.Bounds
import RoutineGate.Proofs.Schema.Calls
import RoutineGate.Proofs.Schema.Defaults
import RoutineGate.Proofs.Schema.Filling
import RoutineGate.Proofs.Schema.Integers
import RoutineGate.Proofs.Schema.Interchange
import RoutineGate.Proofs.Schema.Messages
import RoutineGate.Proofs.Schema.Required
import RoutineGate.Proofs.Schema.Unions
import RoutineGate.Proofs.Service.Binding
import RoutineGate.Proofs.Service.Body
import RoutineGate.Proofs.Service.Disclosure
import RoutineGate.Proofs.Service.Failing
import RoutineGate.Proofs.Service.Identity
import RoutineGate.Proofs.Service.Order
import RoutineGate.Proofs.Service.Plan
import RoutineGate.Proofs.Service.Reachability
import RoutineGate.Proofs.Service.Recording
import RoutineGate.Proofs.Service.Repetition
import RoutineGate.Proofs.Service.Serving
import RoutineGate.Proofs.Traversal
import RoutineGate.Provided.Hooks
import RoutineGate.Provided.Validators
import RoutineGate.Registry
import RoutineGate.Request.Schema
import RoutineGate.Request.Section
import RoutineGate.Route.Basic
import RoutineGate.Route.Description
import RoutineGate.Route.Error
import RoutineGate.Schema.Alternatives
import RoutineGate.Schema.Basic
import RoutineGate.Schema.Check
import RoutineGate.Schema.Defaults
import RoutineGate.Schema.Dump
import RoutineGate.Schema.Instance
import RoutineGate.Schema.Member
import RoutineGate.Schema.Publication
import RoutineGate.Schema.Scalar
import RoutineGate.Schema.Validation
import RoutineGate.Schema.Violation
import RoutineGate.Service.Application
import RoutineGate.Service.Exchange
import RoutineGate.Service.Invocation
import RoutineGate.Service.Lifecycle
import RoutineGate.Service.Sections
import RoutineGate.Settings
import RoutineGate.Text.Blank
import RoutineGate.Text.CharacterName
import RoutineGate.Text.Digit
import RoutineGate.Text.Hexadecimal
import RoutineGate.Text.Identifier
import RoutineGate.Text.LetterCase
import RoutineGate.Text.Lines
import RoutineGate.Text.Percent
import RoutineGate.Text.Printable
import RoutineGate.Text.Quoted
import RoutineGate.Text.Ranges
import RoutineGate.Text.Split
import RoutineGate.Text.Utf8
import RoutineGate.Text.WordChar
import RoutineGate.Value.Basic
import RoutineGate.Value.Display
import RoutineGate.Value.Integer
