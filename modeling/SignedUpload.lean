import SignedUpload.Decimal.Literal
import SignedUpload.Decimal.Fixed
import SignedUpload.Json.Printer
import SignedUpload.Json.Record
import SignedUpload.LengthRange
import SignedUpload.FileKind
import SignedUpload.ContentType
import SignedUpload.Config.Environment
import SignedUpload.Config.File
import SignedUpload.Policy.Response
import SignedUpload.Http.Message
import SignedUpload.FileTree
import SignedUpload.PendingFile
import SignedUpload.UploadedObject
import SignedUpload.ObjectKey
import SignedUpload.Uploader.Run
import SignedUpload.CommandLine.Session
import SignedUpload.Main
import SignedUpload.Proofs.Counting
import SignedUpload.Proofs.Calls
import SignedUpload.Proofs.Answers
import SignedUpload.Proofs.Invariant
import SignedUpload.Proofs.Uploading
import SignedUpload.Proofs.Outcomes
import SignedUpload.Proofs.Transit
import SignedUpload.Proofs.Progress
import SignedUpload.Proofs.Exactness
import SignedUpload.Proofs.Confluence
import SignedUpload.Proofs.Snapshot
import SignedUpload.Proofs.Grants
import SignedUpload.Proofs.Identity
import SignedUpload.Proofs.Selections
import SignedUpload.Proofs.KeyAgreement
import SignedUpload.Proofs.Forms
import SignedUpload.Proofs.RequestMethod
import SignedUpload.Proofs.Modes
import SignedUpload.Proofs.BlankNames
import SignedUpload.Proofs.Dialog
import SignedUpload.Proofs.Window
import SignedUpload.Proofs.Loaders
import SignedUpload.Proofs.LooseEquality
import SignedUpload.Proofs.Expiry
import SignedUpload.Proofs.FieldNames
import SignedUpload.Proofs.Picking
import SignedUpload.Proofs.Staging
import SignedUpload.Proofs.FailedCalls
import SignedUpload.Proofs.PolicyReports
import SignedUpload.Proofs.ExtensionFilter
import SignedUpload.Proofs.DisplayNames
import SignedUpload.Proofs.KeyFormat
import SignedUpload.Proofs.FirstBytes
import SignedUpload.Proofs.AbsentCode
import SignedUpload.Proofs.Endpoints
import SignedUpload.Proofs.PolicyData
import SignedUpload.Proofs.Variables
