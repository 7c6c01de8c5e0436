import ApiTools.Annotation
import ApiTools.Compile
import ApiTools.Dispatch
import ApiTools.Document
import ApiTools.DocumentFormat
import ApiTools.Endpoint
import ApiTools.FileStore
import ApiTools.Generation
import ApiTools.Main
import ApiTools.Pointer
import ApiTools.Proofs.Json.Reader
import ApiTools.Proofs.Schema.Degradation
import ApiTools.Proofs.Schema.Drift
import ApiTools.Proofs.Schema.Mode
import ApiTools.Proofs.Schema.Inlining
import ApiTools.Proofs.Schema.Respelling
import ApiTools.Proofs.Schema.Undescribed
import ApiTools.Proofs.ToolModule.Denotation
import ApiTools.Proofs.Synthesis.Callable
import ApiTools.Synthesis
import ApiTools.Tool
import ApiTools.ToolModule
import ApiTools.ToolName
import ApiTools.Proofs.Schema.Reference
import ApiTools.Proofs.Document.Extension
import ApiTools.Proofs.Synthesis.Extension
import ApiTools.Proofs.ToolName.Renaming
import ApiTools.Proofs.FileStore.Writing
import ApiTools.Proofs.Generation.Ending
import ApiTools.Proofs.Generation.Runs
import ApiTools.Proofs.Http.Response
import ApiTools.Proofs.Json.Writer
import ApiTools.Proofs.Dispatch.Calls
import ApiTools.Proofs.Schema.Beside
import ApiTools.Proofs.Schema.Siblings
import ApiTools.Proofs.Dispatch.Failure
import ApiTools.Proofs.Schema.Rearrangement
import ApiTools.Proofs.Validator.Location
import ApiTools.Proofs.Document.Address
import ApiTools.Proofs.ToolName.Precedence
import ApiTools.Proofs.Synthesis.Paging
import ApiTools.Proofs.Synthesis.Omission
import ApiTools.Proofs.Synthesis.Names
import ApiTools.Proofs.Schema.Depth
import ApiTools.Proofs.Annotation.Matching
import ApiTools.Proofs.Schema.NormalForm
import ApiTools.Proofs.Annotation.Flags
import ApiTools.Proofs.ToolModule.Rebuilt
import ApiTools.Proofs.Endpoint.BaseUrl
