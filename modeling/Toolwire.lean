import Toolwire.Cli.Program
import Toolwire.Credential.Store
import Toolwire.Main
import Toolwire.Manifest.Build
import Toolwire.Secret.Scrub
import Toolwire.Proofs.Binding.Leak
import Toolwire.Proofs.Binding.RoundTrip
import Toolwire.Proofs.Execution.Trace
import Toolwire.Proofs.Template
import Toolwire.Proofs.Credential.Preflight
import Toolwire.Proofs.Execution.Shadow
import Toolwire.Proofs.Manifest.Registration
import Toolwire.Proofs.Execution.Calls
import Toolwire.Proofs.Execution.WriteGate
import Toolwire.Proofs.Execution.Delivery
import Toolwire.Proofs.Credential.Secrecy
import Toolwire.Proofs.Query.Running
import Toolwire.Proofs.Query.WithList
import Toolwire.Proofs.Tool.Recording
import Toolwire.Proofs.Tool.Stages
import Toolwire.Call
import Toolwire.Proofs.Manifest.Agreement
import Toolwire.Proofs.Credential.Folder
import Toolwire.Proofs.Substitution
import Toolwire.Proofs.Credential.Book
import Toolwire.Proofs.Credential.Refinement
import Toolwire.Proofs.Retry.Course
import Toolwire.Proofs.Query.Token
import Toolwire.Proofs.Query.Separator
import Toolwire.Proofs.Cli.Checks
import Toolwire.Proofs.Credential.Quoting
import Toolwire.Proofs.Execution.Preview
import Toolwire.Proofs.Query.Seam
import Toolwire.Proofs.Query.Interpolation
import Toolwire.Proofs.Query.Region
import Toolwire.Proofs.Query.Appearance
import Toolwire.Proofs.Query.Leading
import Toolwire.Proofs.Sql.Parameters
import Toolwire.Proofs.Secret.Reference
import Toolwire.Proofs.Credential.Resolution
import Toolwire.Proofs.Json.Leaf
import Toolwire.Proofs.Template.Argument
import Toolwire.Proofs.Template.Leaf
import Toolwire.Proofs.Text.Space
import Toolwire.Proofs.Secret.Beside
import Toolwire.Proofs.Secret.Scrub
import Toolwire.Proofs.Secret.Mark
import Toolwire.Proofs.Secret.Disclosure
import Toolwire.Proofs.Secret.Preview
import Toolwire.Proofs.Binding.Finding
import Toolwire.Proofs.Json.Spelling
import Toolwire.Proofs.Json.Selection
import Toolwire.Proofs.Schema
import Toolwire.Proofs.Http.Response
import Toolwire.Proofs.Tool.Unexplained
import Toolwire.Proofs.Binding.Connection
import Toolwire.Proofs.Binding.Kept
import Toolwire.Proofs.Outcome.Encoding
import Toolwire.Proofs.Outcome.RoundTrip
import Toolwire.Proofs.Settings
import Toolwire.Proofs.Http.Start
