import ResourceStubs.Assembly.Attributes
import ResourceStubs.Assembly.Collections
import ResourceStubs.Assembly.Documentation
import ResourceStubs.Assembly.Resource
import ResourceStubs.Assembly.Service
import ResourceStubs.Assembly.Signature
import ResourceStubs.Command.Arguments
import ResourceStubs.Command.Failure
import ResourceStubs.Command.Flag
import ResourceStubs.Command.Outcome
import ResourceStubs.Command.Report
import ResourceStubs.Command.Run
import ResourceStubs.Command.Survey
import ResourceStubs.Command.Usage
import ResourceStubs.Config
import ResourceStubs.Decimal.Binary64
import ResourceStubs.Decimal.Shortest
import ResourceStubs.Dict
import ResourceStubs.Doc.Markup
import ResourceStubs.Doc.Summary
import ResourceStubs.Doc.Wrap
import ResourceStubs.Error
import ResourceStubs.Files.Around
import ResourceStubs.Files.Basic
import ResourceStubs.Files.Config
import ResourceStubs.Files.Update
import ResourceStubs.Json.Basic
import ResourceStubs.Json.Decode
import ResourceStubs.Json.Literal
import ResourceStubs.Json.Printer
import ResourceStubs.Json.Reader
import ResourceStubs.Json.Token
import ResourceStubs.Main
import ResourceStubs.Model.Document
import ResourceStubs.Model.Hint
import ResourceStubs.Model.Resource
import ResourceStubs.Model.Service
import ResourceStubs.Model.Waiter
import ResourceStubs.Naming
import ResourceStubs.Oracle.Basic
import ResourceStubs.Oracle.Shapes
import ResourceStubs.Proofs.Assembly.Attributes
import ResourceStubs.Proofs.Assembly.CollectionElements
import ResourceStubs.Proofs.Assembly.CollectionNames
import ResourceStubs.Proofs.Assembly.Consultation
import ResourceStubs.Proofs.Assembly.ForeignModel
import ResourceStubs.Proofs.Assembly.ManagerMethods
import ResourceStubs.Proofs.Assembly.Method
import ResourceStubs.Proofs.Assembly.MethodNames
import ResourceStubs.Proofs.Assembly.NeverFatal
import ResourceStubs.Proofs.Assembly.OneService
import ResourceStubs.Proofs.Assembly.PublicActions
import ResourceStubs.Proofs.Assembly.Rearranged
import ResourceStubs.Proofs.Assembly.ResourceNames
import ResourceStubs.Proofs.Assembly.Skeleton
import ResourceStubs.Proofs.Assembly.Success
import ResourceStubs.Proofs.Assembly.Waits
import ResourceStubs.Proofs.Command.Accounts
import ResourceStubs.Proofs.Command.Handling
import ResourceStubs.Proofs.Command.Isolation
import ResourceStubs.Proofs.Command.NeverAborted
import ResourceStubs.Proofs.Command.Registration
import ResourceStubs.Proofs.Command.Survey
import ResourceStubs.Proofs.Dict
import ResourceStubs.Proofs.Doc.Breaks
import ResourceStubs.Proofs.Doc.Chunks
import ResourceStubs.Proofs.Doc.Entities
import ResourceStubs.Proofs.Doc.Greedy
import ResourceStubs.Proofs.Doc.Lines
import ResourceStubs.Proofs.Doc.Positions
import ResourceStubs.Proofs.Doc.Setting
import ResourceStubs.Proofs.Doc.StrayBlanks
import ResourceStubs.Proofs.Doc.Summary
import ResourceStubs.Proofs.Doc.Tags
import ResourceStubs.Proofs.Fallible
import ResourceStubs.Proofs.Files.Tree
import ResourceStubs.Proofs.Files.Write
import ResourceStubs.Proofs.Json.Alike
import ResourceStubs.Proofs.Json.Printed
import ResourceStubs.Proofs.Json.Same
import ResourceStubs.Proofs.Model.Alike
import ResourceStubs.Proofs.Model.Compatibility
import ResourceStubs.Proofs.Model.Descent
import ResourceStubs.Proofs.Model.Hint
import ResourceStubs.Proofs.Model.LiteralNames
import ResourceStubs.Proofs.Naming.SnakeCase
import ResourceStubs.Proofs.Oracle.Arguments
import ResourceStubs.Proofs.Oracle.Keyed
import ResourceStubs.Proofs.Oracle.Origin
import ResourceStubs.Proofs.Oracle.References
import ResourceStubs.Proofs.Oracle.SchemaSignatures
import ResourceStubs.Proofs.Schema.Callables
import ResourceStubs.Proofs.Schema.Resolve
import ResourceStubs.Proofs.Service.Catalog
import ResourceStubs.Proofs.Service.History
import ResourceStubs.Proofs.Session.Agreement
import ResourceStubs.Proofs.Session.Directory
import ResourceStubs.Proofs.Session.Enumeration
import ResourceStubs.Proofs.Session.Instances
import ResourceStubs.Proofs.Session.OwnDocuments
import ResourceStubs.Proofs.Session.Removal
import ResourceStubs.Proofs.Stub.Printed
import ResourceStubs.Proofs.Stub.References
import ResourceStubs.Proofs.Stub.RoundTrip
import ResourceStubs.Proofs.Text.Bytes
import ResourceStubs.Proofs.Text.Joined
import ResourceStubs.Proofs.Text.Lower
import ResourceStubs.Proofs.Text.Words
import ResourceStubs.Reserved
import ResourceStubs.Schema
import ResourceStubs.Service.Catalog
import ResourceStubs.Service.Name
import ResourceStubs.Session.Basic
import ResourceStubs.Session.Directory
import ResourceStubs.Session.Memory
import ResourceStubs.Stub.Decode
import ResourceStubs.Stub.Encode
import ResourceStubs.Stub.Method
import ResourceStubs.Stub.Resource
import ResourceStubs.Stub.TypeHint
import ResourceStubs.Text.Alphabetic
import ResourceStubs.Text.Blank
import ResourceStubs.Text.CaseContext
import ResourceStubs.Text.CaseMap
import ResourceStubs.Text.Numeric
import ResourceStubs.Text.Printable
import ResourceStubs.Text.Quoted
import ResourceStubs.Text.Replace
import ResourceStubs.Text.Spans
import ResourceStubs.Yaml.Cursor
import ResourceStubs.Yaml.Node
import ResourceStubs.Yaml.Scalar
import ResourceStubs.Yaml.Token
